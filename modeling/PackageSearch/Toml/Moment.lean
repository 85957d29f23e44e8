import PackageSearch.Clock.Calendar
import PackageSearch.Toml.Blank

/-!
Dates and times of TOML. A moment is a date, a time of day, or both, and then perhaps with its
distance from UTC.
-/

namespace PackageSearch.Toml

structure TimeOfDay where
  hour : Nat
  minute : Nat
  /-- Sixty in a minute with a leap second. -/
  second : Nat
  fraction : List Char
  deriving DecidableEq, Repr

inductive Moment where
  | date (date : Clock.Date)
  | time (time : TimeOfDay)
  /-- A date and a time, with the minutes that they are ahead of UTC if they say so. -/
  | both (date : Clock.Date) (time : TimeOfDay) (offset : Option Int)
  deriving DecidableEq, Repr

def readFixed (width : Nat) (text : List Char) : Reading Nat :=
  let digits := text.take width
  if digits.length = width && digits.all Char.isDigit then
    some (digits.foldl (fun value digit => value * 10 + (digit.toNat - 48)) 0, text.drop width)
  else none

def readPair (least most : Nat) (text : List Char) : Reading Nat :=
  (readFixed 2 text).filter fun (value, _) => least ≤ value && value ≤ most

def expect (character : Char) : List Char → Option (List Char)
  | [] => none
  | first :: rest => if first = character then some rest else none

def isLeapYear (year : Nat) : Bool :=
  year % 4 == 0 && (year % 100 != 0 || year % 400 == 0)

def daysInMonth (year month : Nat) : Nat :=
  if month = 2 then (if isLeapYear year then 29 else 28)
  else if month ∈ [4, 6, 9, 11] then 30
  else 31

def readDate (text : List Char) : Option (Clock.Date × List Char) := do
  let (year, rest) ← readFixed 4 text
  let (month, rest) ← (expect '-' rest).bind (readPair 1 12)
  let (day, rest) ← (expect '-' rest).bind (readPair 1 (daysInMonth year month))
  pure ({ year, month, day }, rest)

/-- Reads a fraction, which is empty if there is none. -/
def readSecondFraction : List Char → List Char × List Char
  | '.' :: rest =>
      let digits := rest.takeWhile Char.isDigit
      if digits.isEmpty then ([], '.' :: rest) else (digits, rest.dropWhile Char.isDigit)
  | text => ([], text)

def readTime (text : List Char) : Option (TimeOfDay × List Char) := do
  let (hour, rest) ← readPair 0 23 text
  let (minute, rest) ← (expect ':' rest).bind (readPair 0 59)
  let (second, rest) ← (expect ':' rest).bind (readPair 0 60)
  let (fraction, rest) := readSecondFraction rest
  pure ({ hour, minute, second, fraction }, rest)

def readDistance (text : List Char) : Option (Nat × List Char) := do
  let (hours, rest) ← readPair 0 23 text
  let (minutes, rest) ← (expect ':' rest).bind (readPair 0 59)
  pure (hours * 60 + minutes, rest)

def readOffset (text : List Char) : Reading (Option Int) :=
  match text with
  | 'Z' :: rest => some (some 0, rest)
  | 'z' :: rest => some (some 0, rest)
  | '+' :: rest => (readDistance rest).map fun (minutes, rest) => (some (minutes : Int), rest)
  | '-' :: rest => (readDistance rest).map fun (minutes, rest) => (some (-minutes : Int), rest)
  | _ => some (none, text)

def readTimeAfterDate : List Char → Reading TimeOfDay
  | 'T' :: rest => readTime rest
  | 't' :: rest => readTime rest
  | ' ' :: rest => readTime rest
  | _ => none

def readMoment (text : List Char) : Reading Moment :=
  match readDate text with
  | none => (readTime text).map fun (time, rest) => (.time time, rest)
  | some (date, afterDate) =>
      match readTimeAfterDate afterDate with
      | none => some (.date date, afterDate)
      | some (time, afterTime) =>
          (readOffset afterTime).map fun (offset, rest) => (.both date time offset, rest)

end PackageSearch.Toml
