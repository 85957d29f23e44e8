import PackageSearch.Text.Hex
import PackageSearch.Toml.Blank

/-!
Integers and floating point numbers of TOML. Single underscores may stand between digits.
-/

namespace PackageSearch.Toml

def digitOf? (base : Nat) (character : Char) : Option Nat :=
  (Text.hexValue? character).filter (· < base)

/-- Reads the digits after the first one; `done` holds the digits so far, the latest first. -/
def readMoreDigits (base : Nat) (done : List Nat) : List Char → List Nat × List Char
  | [] => (done.reverse, [])
  | '_' :: character :: rest =>
      match digitOf? base character with
      | none => (done.reverse, '_' :: character :: rest)
      | some digit => readMoreDigits base (digit :: done) rest
  | character :: rest =>
      match digitOf? base character with
      | none => (done.reverse, character :: rest)
      | some digit => readMoreDigits base (digit :: done) rest

def readDigits (base : Nat) : List Char → Reading (List Nat)
  | [] => none
  | character :: rest => (digitOf? base character).map fun digit => readMoreDigits base [digit] rest

/-- Reads decimal digits, the first of which is a zero only if it is the only one. -/
def readWhole : List Char → Reading (List Nat)
  | '0' :: rest => some ([0], rest)
  | text => readDigits 10 text

def valueOf (base : Nat) (digits : List Nat) : Nat :=
  digits.foldl (fun value digit => value * base + digit) 0

/-- Reads a sign, if there is one: whether the number is negative. -/
def readSign : List Char → Bool × List Char
  | '+' :: rest => (false, rest)
  | '-' :: rest => (true, rest)
  | text => (false, text)

def largestInteger : Nat := 0x7FFFFFFFFFFFFFFF

/-- The number that digits stand for, unless it is above a limit. -/
def valueWithin? (limit base : Nat) (digits : List Nat) : Option Nat :=
  digits.foldlM (fun value digit =>
    let next := value * base + digit
    if next ≤ limit then some next else none) 0

/-- The integer that digits stand for, if it fits into 64 bits. -/
def integerOf? (negative : Bool) (base : Nat) (digits : List Nat) : Option Int :=
  if negative then (valueWithin? (largestInteger + 1) base digits).map fun value => -(value : Int)
  else (valueWithin? largestInteger base digits).map fun value => (value : Int)

def readDecimalInteger (text : List Char) : Option (Int × List Char) := do
  let (negative, unsigned) := readSign text
  let (digits, rest) ← readWhole unsigned
  let value ← integerOf? negative 10 digits
  pure (value, rest)

def readIntegerIn (base : Nat) (text : List Char) : Option (Int × List Char) := do
  let (digits, rest) ← readDigits base text
  let value ← integerOf? false base digits
  pure (value, rest)

def readInteger (text : List Char) : Reading Int :=
  match text with
  | '0' :: 'x' :: rest => readIntegerIn 16 rest
  | '0' :: 'o' :: rest => readIntegerIn 8 rest
  | '0' :: 'b' :: rest => readIntegerIn 2 rest
  | _ => readDecimalInteger text

inductive FloatLiteral where
  | decimal (negative : Bool) (digits : List Nat) (exponent : Int)
  | infinite (negative : Bool)
  | notANumber
  deriving DecidableEq, Repr

namespace FloatLiteral

/-- Half way between the largest double and the next power of two: from here on a number is rounded
to infinity. -/
def roundedToInfinity : Nat := 0x3FFFFFFFFFFFFF * Nat.pow 2 970

def mostPlaces : Nat := 309

/-- Whether digits times a power of ten are rounded to infinity. The places before the point tell,
unless they are as many as those of the least such number; then the digits on these places do. -/
def overflows (digits : List Nat) (exponent : Int) : Bool :=
  let significant := digits.dropWhile (· == 0)
  let places := exponent + significant.length
  if significant.isEmpty || places < mostPlaces then false
  else if (mostPlaces : Int) < places then true
  else
    roundedToInfinity ≤
      valueOf 10 ((significant ++ List.replicate mostPlaces 0).take mostPlaces)

/-- A number may be too small for a double but not too large. -/
def isAllowed : FloatLiteral → Bool
  | .decimal false digits exponent => !overflows digits exponent
  | _ => true

end FloatLiteral

/-- An exponent is read no further once it has reached this. -/
def exponentLimit : Nat := 0x10000

/-- The exponent that digits stand for. Digits after those that bring it to the limit are left
out. -/
def exponentOf (digits : List Nat) : Nat :=
  digits.foldl (fun exponent digit =>
    if exponent < exponentLimit then exponent * 10 + digit else exponent) 0

def readExponent (text : List Char) : Reading (Option Int) :=
  match text with
  | [] => some (none, [])
  | mark :: following =>
      if mark = 'e' || mark = 'E' then
        let (negative, unsigned) := readSign following
        (readDigits 10 unsigned).map fun (digits, rest) =>
          (some (if negative then -(exponentOf digits : Int) else exponentOf digits), rest)
      else some (none, text)

/-- Reads the digits after a point; there are none without a point. -/
def readPlaces (text : List Char) : Reading (List Nat) :=
  match text with
  | '.' :: rest => readDigits 10 rest
  | _ => some ([], text)

def readDecimalFloat (text : List Char) : Option (FloatLiteral × List Char) := do
  let (negative, unsigned) := readSign text
  let (whole, afterWhole) ← readWhole unsigned
  let (places, afterPlaces) ← readPlaces afterWhole
  let (exponent, rest) ← readExponent afterPlaces
  if places.isEmpty && exponent.isNone then none
  else pure (.decimal negative (whole ++ places) (exponent.getD 0 - places.length), rest)

def readUncheckedFloat (text : List Char) : Reading FloatLiteral :=
  match readSign text with
  | (negative, 'i' :: 'n' :: 'f' :: rest) => some (.infinite negative, rest)
  | (_, 'n' :: 'a' :: 'n' :: rest) => some (.notANumber, rest)
  | _ => readDecimalFloat text

def readFloat (text : List Char) : Reading FloatLiteral :=
  (readUncheckedFloat text).filter fun (value, _) => value.isAllowed

end PackageSearch.Toml
